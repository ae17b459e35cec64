/-
  ObligationRuntime.Gateway.LogRedaction — secrets in the gateway's log: `redact_secrets` of
  errors.py, and `_SecretRedactionFilter` of app.py.

  A secret is what follows the name of a setting and `=` or `:`.  The filter rewrites a
  record before it is formatted: its template, if that is a string, and each argument that
  is one.  Of a mapping it goes through the keys, and leaves the tuple of them.

  Main definitions:
    * `redactSecrets`, `secretValues` — a text without its secrets, and the secrets,
    * `LogRecord.filter`, `LogRecord.getMessage` — the filter, and what is logged,
    * `Root.run` — the root logger, its handlers and what they write.
-/
import ObligationRuntime.Lib.MarkedText
import ObligationRuntime.Lib.PercentFormat
import ObligationRuntime.Lib.Text

namespace ObligationRuntime

open Py MarkedText PercentFormat

namespace Gateway

/-! ## §1. errors.py -/

/-- The settings, in lower case. -/
def secretKeys : List (List Char) :=
  ["database_url", "password", "api_key", "secret", "token", "langchain_api_key"].map
    String.toList

/-- `re.IGNORECASE` on one character: four letters outside ASCII are taken for `s`, `k` and
`i`. -/
def foldCase (c : Char) : Char :=
  if c.toNat = 0x17f then 's'
  else if c.toNat = 0x212a then 'k'
  else if c.toNat = 0x130 ∨ c.toNat = 0x131 then 'i'
  else c.toLower

/-- The characters of a secret. -/
def isSecretChar (c : Char) : Bool := !isSpace c && decide (c ∉ [',', ')', '}', ']', '\x22'])

section

-- `str.isalnum` of one character.
variable (isAlnum : Char → Bool)

/-- `\w`. -/
def isWordChar (c : Char) : Bool := isAlnum c || c == '_'

/-- `_SECRET_KEYS`, at a place: the name, the sign after it, and the secret. -/
def secretMatch : Pattern := fun before cs =>
  -- `\b`: the names begin with a word character, so none may come before them.
  if before.any (isWordChar isAlnum) then none
  else
    match secretKeys.find? fun key => decide ((cs.take key.length).map foldCase = key) with
    | none => none
    | some key =>
        let blanks := (cs.drop key.length).takeWhile isSpace
        match cs.drop (key.length + blanks.length) with
        | [] => none
        | sign :: cs =>
            -- The blanks after the sign are no part of the group: they are replaced too.
            let gap := cs.takeWhile isSpace
            let secret := (cs.drop gap.length).takeWhile isSecretChar
            if (sign = '=' ∨ sign = ':') ∧ secret ≠ [] then
              some (key.length + blanks.length + 1, gap.length + secret.length)
            else none

/-- The marks of a text, by its secrets. -/
def secretMarks (cs : List Char) : Marked := marks (secretMatch isAlnum) cs

/-- `redact_secrets`. -/
def redactSecrets (cs : List Char) : List Char := sub (secretMatch isAlnum) ['*', '*', '*'] cs

/-- The secrets that `redact_secrets` removes; the blanks before them go too. -/
def secretValues (cs : List Char) : List (List Char) :=
  (runs (secretMarks isAlnum cs)).map fun r => r.dropWhile isSpace

end

/-! ## §2. Log records. -/

/-- `record.msg`: a string, or an object with its text. -/
inductive Template where
  | text (cs : List Char)
  | object (shown : List Char)

/-- `str(record.msg)`. -/
def Template.shown : Template → List Char
  | .text cs => cs
  | .object cs => cs

/-- `record.args`. -/
inductive LogArgs (α : Type) where
  | tuple (vs : List (Value α))
  | mapping (self : α) (items : List (Value α × Value α))

/-- A log record. -/
structure LogRecord (α : Type) where
  msg : Template
  args : LogArgs α

section

variable {α : Type}

/-- `record.getMessage()`; none where it raises. -/
def LogRecord.getMessage (R : Renderer α) (record : LogRecord α) : Option (List Char) :=
  match record.args with
  -- Without arguments the template is not formatted.
  | .tuple [] => some record.msg.shown
  | .tuple (v :: vs) => (pieces 0 record.msg.shown).bind fun ps => formatTuple R ps (v :: vs)
  | .mapping _ [] => some record.msg.shown
  | .mapping self (kv :: items) =>
      (pieces 0 record.msg.shown).bind fun ps =>
        formatMapping R (kv :: items) ps (some (.other self))

variable (isAlnum : Char → Bool)

/-- `redact_secrets(str(a)) if isinstance(a, str) else a`. -/
def redactValue : Value α → Value α
  | .str cs => .str (redactSecrets isAlnum cs)
  | .other a => .other a

/-- `record.msg` after the filter. -/
def Template.filter : Template → Template
  | .text cs => .text (redactSecrets isAlnum cs)
  | .object cs => .object cs

/-- `record.args` after the filter. -/
def LogArgs.filter : LogArgs α → LogArgs α
  | .tuple vs => .tuple (vs.map (redactValue isAlnum))
  | .mapping self [] => .mapping self []
  -- A mapping is gone through by its keys.
  | .mapping _ (kv :: items) =>
      .tuple ((kv :: items).map fun kv => redactValue isAlnum kv.1)

/-- `_SecretRedactionFilter.filter`, on the record. -/
def LogRecord.filter (record : LogRecord α) : LogRecord α :=
  ⟨record.msg.filter isAlnum, record.args.filter isAlnum⟩

end

/-! ## §3. The root logger. -/

/-- A handler: its level, and how many filters were added to it. -/
structure Handler where
  level : Nat := 0
  filters : Nat := 0
  deriving DecidableEq, Repr

/-- The root logger; its level is WARNING until it is set. -/
structure Root where
  level : Nat := 30
  handlers : List Handler := []
  deriving DecidableEq, Repr

/-- `configure_logging`, at the level of the environment. -/
def Root.configureLogging (level : Nat) (root : Root) : Root :=
  match root.handlers with
  | [] => ⟨level, [{}]⟩
  | handlers => ⟨level, handlers.map fun handler => { handler with level }⟩

/-- `_lifespan`, up to its `yield`: each handler gets a filter of its own. -/
def Root.lifespan (level : Nat) (root : Root) : Root :=
  let root := root.configureLogging level
  { root with
    handlers := root.handlers.map fun handler =>
      { handler with filters := handler.filters + 1 } }

section

variable {α : Type} (R : Renderer α) (isAlnum : Char → Bool)

/-- The handlers that a record of some level comes to, one after the other: each writes its
message; none where formatting raises.  Their filters change the record for those after. -/
def callHandlers (levelno : Nat) : List Handler → LogRecord α → List (Option (List Char))
  | [], _ => []
  | handler :: handlers, record =>
      if handler.level ≤ levelno then
        let record := (LogRecord.filter isAlnum)^[handler.filters] record
        record.getMessage R :: callHandlers levelno handlers record
      else callHandlers levelno handlers record

/-- What happens to the root logger: another library adds a handler, the application is
started, or a record is logged. -/
inductive LogEvent (α : Type) where
  | addHandler (level : Nat)
  | start (level : Nat)
  | log (levelno : Nat) (record : LogRecord α)

/-- What is written for a record. -/
abbrev Written (α : Type) := LogRecord α × List (Option (List Char))

/-- One event, and what is written. -/
def Root.step (root : Root) : LogEvent α → Root × List (Written α)
  | .addHandler level => ({ root with handlers := root.handlers ++ [{ level }] }, [])
  | .start level => (root.lifespan level, [])
  | .log levelno record =>
      (root,
        if root.level ≤ levelno then
          [(record, callHandlers R isAlnum levelno root.handlers record)]
        else [])

/-- The events, and all that is written. -/
def Root.run : Root → List (LogEvent α) → Root × List (Written α)
  | root, [] => (root, [])
  | root, e :: es =>
      let (root, now) := root.step R isAlnum e
      let (root, later) := root.run es
      (root, now ++ later)

end

end Gateway

end ObligationRuntime
