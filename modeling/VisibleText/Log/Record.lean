import VisibleText.Edit.Apply
import VisibleText.Json.Basic
import VisibleText.Log.Template
import VisibleText.Text.Case

/-!
# Records of a log

A log takes the records of its level and above, in the form that it is set to. Every batch of edits
leaves a record as well.
-/

set_option autoImplicit false

namespace VisibleText.Log

/-! ## Levels and forms of a log

Every record has a level, and a log takes the records of its level and above. The name
of a level may be written in letters of any case. What is not known counts as the usual
level and the usual form.
-/

/-- How much a record matters. -/
inductive Level where
  | debug
  | info
  | warning
  | error
  | critical
deriving DecidableEq

namespace Level

/-- All levels, from the least to the greatest. -/
def all : List Level := [debug, info, warning, error, critical]

/-- The name of a level. -/
def name : Level → String
  | debug => "DEBUG"
  | info => "INFO"
  | warning => "WARNING"
  | error => "ERROR"
  | critical => "CRITICAL"

/-- The number of a level; a level that matters more has a greater one. -/
def number : Level → Nat
  | debug => 10
  | info => 20
  | warning => 30
  | error => 40
  | critical => 50

/-- The level of a name; other names mean the usual level. -/
def ofName (t : Text) : Level :=
  (all.find? fun level => text level.name = t.capitals).getD info

/-- Whether a log of one level takes records of another one. -/
def takes (level record : Level) : Bool := level.number ≤ record.number

end Level

/-- How records are written. -/
inductive Form where
  | standard
  | json
  | detailed
deriving DecidableEq

namespace Form

/-- All forms. -/
def all : List Form := [standard, json, detailed]

/-- The name of a form. -/
def name : Form → String
  | standard => "standard"
  | json => "json"
  | detailed => "detailed"

/-- The form of a name; other names mean the usual form. -/
def ofName (t : Text) : Form := (all.find? fun form => text form.name = t).getD standard

end Form

/-- How a log is kept. -/
structure Setup where
  level : Level
  form : Form
deriving DecidableEq

namespace Setup

/-- The form that a setting names. -/
def formOf : Option Json → Form
  | some (.string name) => Form.ofName name
  | _ => .standard

/-- The log that settings ask for; a verbose one takes every record. A level that is no
text cannot be used. -/
def ofSettings? (settings : Json.Members) (verbose : Bool) : Option Setup :=
  let form := formOf (settings.find? (text "format"))
  if verbose then some ⟨.debug, form⟩
  else
    match settings.find? (text "level") with
    | none => some ⟨.info, form⟩
    | some (.string name) => some ⟨Level.ofName name, form⟩
    | some _ => none

end Setup

/-! ## Records

A record says what happened, when it happened and where in the program. It is written
as one line of words or as one object of JSON; members that were attached to a record
are laid over that object. A record that cannot be written or has no UTF-8 form is left
out of a file.
-/

/-- A record of a log. -/
structure Record where
  time : Text
  logger : Text
  level : Level
  /-- the part of the program that wrote the record -/
  origin : Text
  function : Text
  /-- the line of the program, as it was given -/
  line : Json
  message : Text
  /-- what was attached to the record -/
  attached : Json.Members

namespace Record

/-- A record as an object of JSON. -/
def members (r : Record) : Json.Members :=
  let own : Json.Members :=
    [ (text "timestamp", .string r.time), (text "message", .string r.message),
      (text "logger", .string r.logger), (text "level", .ofString r.level.name),
      (text "module", .string r.origin), (text "function", .string r.function),
      (text "line", r.line) ]
  r.attached.foldl (fun members entry => Json.Members.set entry.1 entry.2 members) own

/-- Parts of a line joined by dashes. -/
def dashed (parts : List Text) : Text := Text.join (text " - ") parts

/-- Whether the line of a record is a single value, so that it can stand in an object. -/
def hasPlainLine (r : Record) : Bool := r.line.depth == 0

/-- A record as an object of JSON, if it can be one. -/
def members? (r : Record) : Option Json.Members :=
  if r.hasPlainLine then some r.members else none

/-- A record in one of the forms, if it can be written in it. -/
def written? (r : Record) : Form → Option Text
  | .standard => some (dashed [r.time, r.logger, text r.level.name, r.message])
  | .json => r.members?.map fun members => Json.written (.compact false) (.object members)
  | .detailed => do
    let line ← (fill (text "%d") [r.line]).toOption
    let place := Text.join (text ":") [r.origin, r.function, line]
    return dashed [r.time, r.logger, text r.level.name, place, r.message]

end Record

/-- The lines of a log that was kept of some records. -/
def Setup.lines (setup : Setup) (records : List Record) : List Text :=
  let taken := records.filter fun r => setup.level.takes r.level
  (taken.filterMap fun r => r.written? setup.form).filter fun line => !line.hasSurrogate

/-! ## Records of page writes

Every batch of edits that was carried out on a page leaves one record: the page, the
edits that were carried out, the edits that were dropped with the reasons, and whether
the batch was only tried.
-/

/-- What is recorded of an edit that was not carried out. -/
def droppedMembers (d : DroppedDraft) : Json.Members :=
  [(text "id", .string d.draft.id), (text "reason", .ofString d.reason.name)]

/-- The record of a batch of edits. -/
structure AuditRecord where
  page : Text
  applied : List Text
  /-- what is recorded of each edit that was not carried out -/
  dropped : List Json.Members
  /-- whether the batch was only tried -/
  isDryRun : Bool

namespace AuditRecord

/-- The level of these records. -/
def level : Level := .info

/-- The record of an outcome. -/
def ofOutcome (page : Text) (isDryRun : Bool) (outcome : DraftOutcome) : AuditRecord where
  page := page
  applied := outcome.applied
  dropped := outcome.dropped.map droppedMembers
  isDryRun := isDryRun

/-- What a record says in words. -/
def message (r : AuditRecord) : Text :=
  text (if r.isDryRun then "Previewed " else "Wrote ") ++ r.page ++ text ": " ++
    Text.ofNat r.applied.length ++ text " applied, " ++ Text.ofNat r.dropped.length ++
    text " dropped"

/-- What is attached to a record. -/
def attached (r : AuditRecord) : Json.Members :=
  [ (text "page_path", .string r.page),
    (text "applied", .array (r.applied.map Json.string)),
    (text "dropped", .array (r.dropped.map Json.object)),
    (text "dry_run", .bool r.isDryRun) ]

/-- The records that a log of some level takes of a batch. -/
def taken (level : Level) (r : AuditRecord) : List AuditRecord :=
  if level.takes AuditRecord.level then [r] else []

end AuditRecord

end VisibleText.Log
