/-
Module: BoxProbe.Failure.Basic
Purpose: The failures that a run can meet, and their two written forms.
Main exports: FailureKind, CloseFrame, Failure, Failure.shown, Failure.message
-/
import BoxProbe.Json.Display
import BoxProbe.Text.Utf8
import BoxProbe.Protocol.Frame

/-!
A failure has a kind and arguments.  `Failure.shown` names both, as in `ValueError('bad frame')`,
and is what logs show where the kind matters; `Failure.message` is the sentence alone.  A failure of
the operating system with a number and a text takes the kind that belongs to its number.
-/

namespace BoxProbe

/-- The kind of a failure. -/
inductive FailureKind where
  | general
  | value
  | runtime
  | key
  | type
  | attribute
  | assertion
  | endOfFile
  | unicode
  | system
  | notFound
  | exists
  | isDirectory
  | notDirectory
  | permission
  | interrupted
  | blocking
  | brokenPipe
  | childProcess
  | processLookup
  | connectionAborted
  | connectionReset
  | connectionRefused
  | timeout
deriving DecidableEq, Repr

namespace FailureKind

/-- The name of a kind. -/
def name : FailureKind → String
  | .general => "Exception"
  | .value => "ValueError"
  | .runtime => "RuntimeError"
  | .key => "KeyError"
  | .type => "TypeError"
  | .attribute => "AttributeError"
  | .assertion => "AssertionError"
  | .endOfFile => "EOFError"
  | .unicode => "UnicodeError"
  | .system => "OSError"
  | .notFound => "FileNotFoundError"
  | .exists => "FileExistsError"
  | .isDirectory => "IsADirectoryError"
  | .notDirectory => "NotADirectoryError"
  | .permission => "PermissionError"
  | .interrupted => "InterruptedError"
  | .blocking => "BlockingIOError"
  | .brokenPipe => "BrokenPipeError"
  | .childProcess => "ChildProcessError"
  | .processLookup => "ProcessLookupError"
  | .connectionAborted => "ConnectionAbortedError"
  | .connectionReset => "ConnectionResetError"
  | .connectionRefused => "ConnectionRefusedError"
  | .timeout => "TimeoutError"

/-- All kinds. -/
def all : List FailureKind :=
  [.general, .value, .runtime, .key, .type, .attribute, .assertion, .endOfFile, .unicode, .system,
    .notFound, .exists, .isDirectory, .notDirectory, .permission, .interrupted, .blocking,
    .brokenPipe, .childProcess, .processLookup, .connectionAborted, .connectionReset,
    .connectionRefused, .timeout]

/-- The kind of a name. -/
def ofName? (name : String) : Option FailureKind :=
  all.find? fun k => k.name == name

/-- Whether failures of this kind come from the operating system. -/
def isSystem : FailureKind → Bool
  | .system | .notFound | .exists | .isDirectory | .notDirectory | .permission | .interrupted
  | .blocking | .brokenPipe | .childProcess | .processLookup | .connectionAborted
  | .connectionReset | .connectionRefused | .timeout => true
  | _ => false

/-- The kind that belongs to an error number of the operating system. -/
def ofErrorNumber : Int → FailureKind
  | 1 | 13 => .permission
  | 2 => .notFound
  | 3 => .processLookup
  | 4 => .interrupted
  | 10 => .childProcess
  | 11 | 114 | 115 => .blocking
  | 17 => .exists
  | 20 => .notDirectory
  | 21 => .isDirectory
  | 32 | 108 => .brokenPipe
  | 103 => .connectionAborted
  | 104 => .connectionReset
  | 110 => .timeout
  | 111 => .connectionRefused
  | _ => .system

end FailureKind

/-- A close frame: why one side closed a connection. -/
structure CloseFrame where
  code : Int
  reason : String
deriving DecidableEq, Repr

namespace CloseFrame

/-- What a close code means. -/
def explanation (code : Int) : String :=
  if 3000 ≤ code ∧ code < 4000 then "registered"
  else if 4000 ≤ code ∧ code < 5000 then "private use"
  else
    match code with
    | 1000 => "OK"
    | 1001 => "going away"
    | 1002 => "protocol error"
    | 1003 => "unsupported data"
    | 1005 => "no status received [internal]"
    | 1006 => "abnormal closure [internal]"
    | 1007 => "invalid frame payload data"
    | 1008 => "policy violation"
    | 1009 => "message too big"
    | 1010 => "mandatory extension"
    | 1011 => "internal error"
    | 1012 => "service restart"
    | 1013 => "try again later"
    | 1014 => "bad gateway"
    | 1015 => "TLS handshake failure [internal]"
    | _ => "unknown"

/-- Code, meaning and reason in a sentence. -/
def message (f : CloseFrame) : String :=
  s!"{f.code} ({explanation f.code})" ++ if f.reason = "" then "" else " " ++ f.reason

/-- Code and reason as arguments. -/
def shown (f : CloseFrame) : Text :=
  Text.ofString s!"Close(code={f.code}, reason=" ++ (Text.ofString f.reason).quoted ++ (")" : Text)

end CloseFrame

/-- A failure. -/
inductive Failure where
  /-- A failure of a kind, with arguments. -/
  | plain (kind : FailureKind) (arguments : List Json)
  /-- The connection was closed, in order or not; which close frames were received and sent, and,
  where it is known, whether the received one came first. -/
  | closed (orderly : Bool) (received sent : Option CloseFrame) (receivedFirst : Option Json)
  /-- The address is none that a connection can be opened to. -/
  | badAddress (url reason : Json)
  /-- A frame is no JSON. -/
  | undecodable (raw : String) (fault : Json.Fault)
  /-- Bytes are no UTF-8: where the first ones that are none start and end, and why. -/
  | notUtf8 (bytes : List UInt8) (flaw : Utf8.Flaw)

namespace Failure

/-- A failure with one sentence as its argument. -/
def ofMessage (kind : FailureKind) (message : String) : Failure :=
  .plain kind [Json.ofString message]

/-- Whether the arguments of a failure of the operating system begin with its number and its text;
behind them there may be a file, a number of no use, and another file. -/
def areDetailed (arguments : List Json) : Bool :=
  2 ≤ arguments.length && arguments.length ≤ 5

/-- The kind of a failure of the operating system whose arguments begin with a number: an integer or
a truth value, which counts as one. -/
def kindOfNumber : Json → FailureKind
  | .int n => .ofErrorNumber n
  | .bool b => .ofErrorNumber (if b then 1 else 0)
  | _ => .system

/-- Why no failure can be made of a kind and arguments: what should be the count of a failure that
would have blocked is none. -/
def rejection? (kind : FailureKind) (arguments : List Json) : Option Failure :=
  match kind, arguments with
  | .blocking, _ :: _ :: .double _ :: _ =>
    some (ofMessage .type "'float' object cannot be interpreted as an integer")
  | .blocking, _ :: _ :: .int n :: _ =>
    if -9223372036854775808 ≤ n ∧ n ≤ 9223372036854775807 then none
    else some (ofMessage .value "cannot fit 'int' into an index-sized integer")
  | _, _ => none

/-- The failure that a kind and arguments make, or the one of making it: with a number and a text
among its arguments, a failure of the operating system takes the kind of the number. -/
def make (kind : FailureKind) (arguments : List Json) : Except Failure Failure :=
  if kind.isSystem && areDetailed arguments then
    let exact := if kind = .system then kindOfNumber (arguments.headD .null) else kind
    match rejection? exact arguments with
    | some rejection => .error rejection
    | none => .ok (.plain exact arguments)
  else .ok (.plain kind arguments)

/-- The failure of a closed connection, or the one of making it: which frame came first is known
exactly if there are two. -/
def makeClosed (orderly : Bool) (received sent : Option CloseFrame) (receivedFirst : Option Json) :
    Except Failure Failure :=
  let areBoth := received.isSome && sent.isSome
  let isKnown := receivedFirst.any fun v => !(v matches .null)
  if areBoth = isKnown then .ok (.closed orderly received sent receivedFirst)
  else .error (.plain .assertion [])

/-- A failure as raised: the one that a kind and arguments make, or else the one of making it. -/
def raised (kind : FailureKind) (arguments : List Json) : Failure :=
  match make kind arguments with
  | .ok f | .error f => f

/-- Whether a failure says that the connection was closed. -/
def isClosed : Failure → Bool
  | .closed _ _ _ _ => true
  | _ => false

/-- Whether a failure says that the connection was closed out of order. -/
def isClosedByError : Failure → Bool
  | .closed orderly _ _ _ => !orderly
  | _ => false

/-- The name of a failure's kind. -/
def kindName : Failure → String
  | .plain kind _ => kind.name
  | .closed true _ _ _ => "ConnectionClosedOK"
  | .closed false _ _ _ => "ConnectionClosedError"
  | .badAddress _ _ => "InvalidURI"
  | .undecodable _ _ => "MessageParseError"
  | .notUtf8 _ _ => "UnicodeDecodeError"

/-- Arguments between parentheses. -/
def argumentList (arguments : List Text) : Text :=
  ("(" : Text) ++ Text.joinWith (", " : Text) arguments ++ (")" : Text)

/-- Whether a value is a number, or counts as one. -/
def isNumber : Json → Bool
  | .int _ | .bool _ | .double _ => true
  | _ => false

/-- The files that a failure of the operating system names after its number and text: none, one, or
one and another that takes its place.  The count of a failure that would have blocked is no file. -/
def filesOf (kind : FailureKind) (arguments : List Json) : List Json :=
  if kind.isSystem && areDetailed arguments then
    match arguments.drop 2 with
    | [] | .null :: _ => []
    | file :: rest =>
      if kind = .blocking && isNumber file then []
      else
        match rest.drop 1 with
        | [] | .null :: _ => [file]
        | other :: _ => [file, other]
  else []

/-- A close frame, or its absence. -/
def shownFrame : Option CloseFrame → Text
  | some f => f.shown
  | none => "None"

/-- The arguments of a failure.  Where a failure of the operating system names a file, only its
number and its text are shown. -/
def shownArguments : Failure → List Text
  | .plain kind arguments =>
    let visible := if (filesOf kind arguments).isEmpty then arguments else arguments.take 2
    visible.map Json.shown
  | .closed _ received sent receivedFirst =>
    [shownFrame received, shownFrame sent] ++ receivedFirst.toList.map Json.shown
  | .badAddress url reason => [url.shown, reason.shown]
  | .undecodable raw fault => [(Text.ofString (undecodableMessage raw fault)).quoted]
  | .notUtf8 bytes flaw =>
    ["'utf-8'", Text.quotedBytes bytes, toString flaw.start, toString flaw.stop,
      (Text.ofString flaw.kind.reason).quoted]

/-- Kind and arguments of a failure. -/
def shown (f : Failure) : Text :=
  Text.ofString f.kindName ++ argumentList f.shownArguments

/-- Whether a value counts as true. -/
def isTrue : Json → Bool
  | .bool b => b
  | .int n => n ≠ 0
  | .double d => !d.isZero
  | .str t => !t.isEmpty
  | .arr items => !items.isEmpty
  | .obj fields => !fields.isEmpty
  | .null => false

/-- The words for a closed connection. -/
def closedMessage (received sent : Option CloseFrame) (receivedFirst : Bool) : String :=
  match received, sent with
  | none, none => "no close frame received or sent"
  | some r, none => s!"received {r.message}; no close frame sent"
  | none, some s => s!"sent {s.message}; no close frame received"
  | some r, some s =>
    if receivedFirst then s!"received {r.message}; then sent {s.message}"
    else s!"sent {s.message}; then received {r.message}"

/-- The sentence of a list of arguments: nothing, the only argument, or all of them. -/
def argumentMessage : List Json → Text
  | [] => []
  | [a] => a.inline
  | arguments => argumentList (arguments.map Json.shown)

/-- The sentence of a failure. -/
def message : Failure → Text
  | .plain .key [a] => a.shown
  | .plain kind arguments =>
    match arguments with
    | number :: text :: _ =>
      if kind.isSystem && areDetailed arguments then
        ("[Errno " : Text) ++ number.inline ++ ("] " : Text) ++ text.inline ++
          (match (filesOf kind arguments).map Json.shown with
            | [] => []
            | files => (": " : Text) ++ Text.joinWith (" -> " : Text) files)
      else argumentMessage arguments
    | _ => argumentMessage arguments
  | .closed _ received sent receivedFirst =>
    closedMessage received sent (receivedFirst.any isTrue)
  | .badAddress url reason => url.inline ++ (" isn't a valid URI: " : Text) ++ reason.inline
  | .undecodable raw fault => undecodableMessage raw fault
  | .notUtf8 bytes flaw =>
    let first := ((bytes[flaw.start]?).getD 0).toNat
    if flaw.stop = flaw.start + 1 then
      s!"'utf-8' codec can't decode byte 0x{String.ofList (hexDigits 2 first)} in position " ++
        s!"{flaw.start}: {flaw.kind.reason}"
    else
      s!"'utf-8' codec can't decode bytes in position {flaw.start}-{flaw.stop - 1}: " ++
        s!"{flaw.kind.reason}"

end Failure

end BoxProbe
