import MeshRouting.Net.IoErrorData
import MeshRouting.Text.Quoted

/-!
# I/O errors

An I/O error is an error number of the operating system, a bare kind, or a kind with a message.
Some errors of an accept call pass by themselves, such as a connection that was reset before it
was taken; those are temporary and worth a retry.
-/
namespace MeshRouting

inductive IoErrorKind where
  | addrInUse | addrNotAvailable | alreadyExists | argumentListTooLong | brokenPipe
  | connectionAborted | connectionRefused | connectionReset | crossesDevices | deadlock
  | directoryNotEmpty | executableFileBusy | fileTooLarge | filesystemLoop | hostUnreachable
  | inProgress | inputOutputError | interrupted | invalidData | invalidFilename | invalidInput
  | isADirectory | networkDown | networkUnreachable | notADirectory | notConnected | notFound | notSeekable
  | other | outOfMemory | permissionDenied | quotaExceeded | readOnlyFilesystem | resourceBusy
  | staleNetworkFileHandle | storageFull | timedOut | tooManyLinks | uncategorized
  | unexpectedEof | unsupported | wouldBlock | writeZero
  deriving DecidableEq, Repr

namespace IoErrorKind

/-- Every kind with its name and the words that describe it. -/
def table : List (IoErrorKind × String × String) :=
  [(addrInUse, "AddrInUse", "address in use"),
   (addrNotAvailable, "AddrNotAvailable", "address not available"),
   (alreadyExists, "AlreadyExists", "entity already exists"),
   (argumentListTooLong, "ArgumentListTooLong", "argument list too long"),
   (brokenPipe, "BrokenPipe", "broken pipe"),
   (connectionAborted, "ConnectionAborted", "connection aborted"),
   (connectionRefused, "ConnectionRefused", "connection refused"),
   (connectionReset, "ConnectionReset", "connection reset"),
   (crossesDevices, "CrossesDevices", "cross-device link or rename"),
   (deadlock, "Deadlock", "deadlock"),
   (directoryNotEmpty, "DirectoryNotEmpty", "directory not empty"),
   (executableFileBusy, "ExecutableFileBusy", "executable file busy"),
   (fileTooLarge, "FileTooLarge", "file too large"),
   (filesystemLoop, "FilesystemLoop",
     "filesystem loop or indirection limit (e.g. symlink loop)"),
   (hostUnreachable, "HostUnreachable", "host unreachable"),
   (inProgress, "InProgress", "in progress"),
   (inputOutputError, "InputOutputError", "input/output error"),
   (interrupted, "Interrupted", "operation interrupted"),
   (invalidData, "InvalidData", "invalid data"),
   (invalidFilename, "InvalidFilename", "invalid filename"),
   (invalidInput, "InvalidInput", "invalid input parameter"),
   (isADirectory, "IsADirectory", "is a directory"),
   (networkDown, "NetworkDown", "network down"),
   (networkUnreachable, "NetworkUnreachable", "network unreachable"),
   (notADirectory, "NotADirectory", "not a directory"),
   (notConnected, "NotConnected", "not connected"),
   (notFound, "NotFound", "entity not found"),
   (notSeekable, "NotSeekable", "seek on unseekable file"),
   (other, "Other", "other error"),
   (outOfMemory, "OutOfMemory", "out of memory"),
   (permissionDenied, "PermissionDenied", "permission denied"),
   (quotaExceeded, "QuotaExceeded", "quota exceeded"),
   (readOnlyFilesystem, "ReadOnlyFilesystem", "read-only filesystem or storage medium"),
   (resourceBusy, "ResourceBusy", "resource busy"),
   (staleNetworkFileHandle, "StaleNetworkFileHandle", "stale network file handle"),
   (storageFull, "StorageFull", "no storage space"),
   (timedOut, "TimedOut", "timed out"),
   (tooManyLinks, "TooManyLinks", "too many links"),
   (uncategorized, "Uncategorized", "uncategorized error"),
   (unexpectedEof, "UnexpectedEof", "unexpected end of file"),
   (unsupported, "Unsupported", "unsupported"),
   (wouldBlock, "WouldBlock", "operation would block"),
   (writeZero, "WriteZero", "write zero")]

def name (kind : IoErrorKind) : String :=
  ((table.find? (·.1 == kind)).map (·.2.1)).getD ""

def description (kind : IoErrorKind) : String :=
  ((table.find? (·.1 == kind)).map (·.2.2)).getD ""

def ofName? (name : String) : Option IoErrorKind :=
  (table.find? (·.2.1 == name)).map (·.1)

/-- The kind of an error number; numbers without one of their own are uncategorized. -/
def ofNumber (number : Int) : IoErrorKind :=
  match number with
  | 1 | 13 => permissionDenied
  | 2 => notFound
  | 4 => interrupted
  | 5 => inputOutputError
  | 7 => argumentListTooLong
  | 11 => wouldBlock
  | 12 => outOfMemory
  | 16 => resourceBusy
  | 17 => alreadyExists
  | 18 => crossesDevices
  | 20 => notADirectory
  | 21 => isADirectory
  | 22 => invalidInput
  | 26 => executableFileBusy
  | 27 => fileTooLarge
  | 28 => storageFull
  | 29 => notSeekable
  | 30 => readOnlyFilesystem
  | 31 => tooManyLinks
  | 32 => brokenPipe
  | 35 => deadlock
  | 36 => invalidFilename
  | 38 | 95 => unsupported
  | 39 => directoryNotEmpty
  | 40 => filesystemLoop
  | 98 => addrInUse
  | 99 => addrNotAvailable
  | 100 => networkDown
  | 101 => networkUnreachable
  | 103 => connectionAborted
  | 104 => connectionReset
  | 107 => notConnected
  | 110 => timedOut
  | 111 => connectionRefused
  | 113 => hostUnreachable
  | 115 => inProgress
  | 116 => staleNetworkFileHandle
  | 122 => quotaExceeded
  | _ => uncategorized

end IoErrorKind

inductive IoError where
  | number (number : Int)
  | kind (kind : IoErrorKind)
  | custom (kind : IoErrorKind) (message : String)
  deriving DecidableEq, Repr

namespace IoError

def kindOf : IoError → IoErrorKind
  | number n => .ofNumber n
  | kind k => k
  | custom k _ => k

def numberText (n : Int) : String :=
  ((errorNumberTexts.find? (fun entry => (entry.1 : Int) == n)).map (·.2)).getD
    s!"Unknown error {n}"

def message : IoError → String
  | number n => s!"{numberText n} (os error {n})"
  | kind k => k.description
  | custom _ message => message

/-- An error with everything known about it, as a crash report shows it. -/
def detail (e : IoError) : String :=
  match e with
  | number n =>
    s!"Os \x7b code: {n}, kind: {e.kindOf.name}, message: " ++ Text.quote (numberText n) ++ " \x7d"
  | kind k => s!"Kind({k.name})"
  | custom k message =>
    s!"Custom \x7b kind: {k.name}, error: " ++ Text.quote message ++ " \x7d"

/-- Kinds that pass by themselves. -/
def temporaryKinds : List IoErrorKind :=
  [.connectionAborted, .connectionReset, .interrupted, .wouldBlock, .timedOut, .outOfMemory]

/-- Error numbers that say memory, file handles or buffers ran out. -/
def exhaustionNumbers : List Int := [12, 23, 24, 105]

def isTemporary (e : IoError) : Bool :=
  temporaryKinds.contains e.kindOf ||
    match e with
    | number n => exhaustionNumbers.contains n
    | _ => false

end IoError
end MeshRouting
