/-!
# DongleLink.IoFault

Faults of the operating system's streams and files.  A fault has a kind, which
decides whether the receive loop tries again, and a text, which is what the user
reads.  Numbered faults take both from the system's table.
-/

namespace DongleLink

/-! ## Kinds -/

/-- What sort of thing went wrong. -/
inductive IoKind where
  | notFound | permissionDenied | connectionRefused | connectionReset | connectionAborted
  | notConnected | brokenPipe | wouldBlock | timedOut | interrupted | invalidData | unexpectedEof
  | other | addrInUse | addrNotAvailable | alreadyExists | argumentListTooLong | crossesDevices
  | deadlock | directoryNotEmpty | executableFileBusy | fileTooLarge | filesystemLoop
  | hostUnreachable | invalidFilename | invalidInput | isADirectory | networkDown
  | networkUnreachable | notADirectory | notSeekable | outOfMemory | quotaExceeded
  | readOnlyFilesystem | resourceBusy | staleNetworkFileHandle | storageFull | tooManyLinks
  | uncategorized | unsupported
  deriving DecidableEq, Repr, Inhabited

namespace IoKind

/-- The kind's name and its text, where no closer description is known. -/
def describe : IoKind → String × String
  | .notFound => ("NotFound", "entity not found")
  | .permissionDenied => ("PermissionDenied", "permission denied")
  | .connectionRefused => ("ConnectionRefused", "connection refused")
  | .connectionReset => ("ConnectionReset", "connection reset")
  | .connectionAborted => ("ConnectionAborted", "connection aborted")
  | .notConnected => ("NotConnected", "not connected")
  | .brokenPipe => ("BrokenPipe", "broken pipe")
  | .wouldBlock => ("WouldBlock", "operation would block")
  | .timedOut => ("TimedOut", "timed out")
  | .interrupted => ("Interrupted", "operation interrupted")
  | .invalidData => ("InvalidData", "invalid data")
  | .unexpectedEof => ("UnexpectedEof", "unexpected end of file")
  | .other => ("Other", "other error")
  | .addrInUse => ("AddrInUse", "address in use")
  | .addrNotAvailable => ("AddrNotAvailable", "address not available")
  | .alreadyExists => ("AlreadyExists", "entity already exists")
  | .argumentListTooLong => ("ArgumentListTooLong", "argument list too long")
  | .crossesDevices => ("CrossesDevices", "cross-device link or rename")
  | .deadlock => ("Deadlock", "deadlock")
  | .directoryNotEmpty => ("DirectoryNotEmpty", "directory not empty")
  | .executableFileBusy => ("ExecutableFileBusy", "executable file busy")
  | .fileTooLarge => ("FileTooLarge", "file too large")
  | .filesystemLoop =>
    ("FilesystemLoop", "filesystem loop or indirection limit (e.g. symlink loop)")
  | .hostUnreachable => ("HostUnreachable", "host unreachable")
  | .invalidFilename => ("InvalidFilename", "invalid filename")
  | .invalidInput => ("InvalidInput", "invalid input parameter")
  | .isADirectory => ("IsADirectory", "is a directory")
  | .networkDown => ("NetworkDown", "network down")
  | .networkUnreachable => ("NetworkUnreachable", "network unreachable")
  | .notADirectory => ("NotADirectory", "not a directory")
  | .notSeekable => ("NotSeekable", "seek on unseekable file")
  | .outOfMemory => ("OutOfMemory", "out of memory")
  | .quotaExceeded => ("QuotaExceeded", "quota exceeded")
  | .readOnlyFilesystem => ("ReadOnlyFilesystem", "read-only filesystem or storage medium")
  | .resourceBusy => ("ResourceBusy", "resource busy")
  | .staleNetworkFileHandle => ("StaleNetworkFileHandle", "stale network file handle")
  | .storageFull => ("StorageFull", "no storage space")
  | .tooManyLinks => ("TooManyLinks", "too many links")
  | .uncategorized => ("Uncategorized", "uncategorized error")
  | .unsupported => ("Unsupported", "unsupported")

/-- The kind's name. -/
def name (k : IoKind) : String := k.describe.1

/-- The kind's text. -/
def text (k : IoKind) : String := k.describe.2

/-- A kind that means "nothing yet": the receive loop tries again. -/
def isTransient : IoKind → Bool
  | .timedOut | .wouldBlock | .interrupted => true
  | _ => false

end IoKind

/-! ## The system's numbered faults -/

/-- The texts of the numbered faults, from 1 on; an unused number has no text. -/
def systemTexts : List String := [
  "Operation not permitted",
  "No such file or directory",
  "No such process",
  "Interrupted system call",
  "Input/output error",
  "No such device or address",
  "Argument list too long",
  "Exec format error",
  "Bad file descriptor",
  "No child processes",
  "Resource temporarily unavailable",
  "Cannot allocate memory",
  "Permission denied",
  "Bad address",
  "Block device required",
  "Device or resource busy",
  "File exists",
  "Invalid cross-device link",
  "No such device",
  "Not a directory",
  "Is a directory",
  "Invalid argument",
  "Too many open files in system",
  "Too many open files",
  "Inappropriate ioctl for device",
  "Text file busy",
  "File too large",
  "No space left on device",
  "Illegal seek",
  "Read-only file system",
  "Too many links",
  "Broken pipe",
  "Numerical argument out of domain",
  "Numerical result out of range",
  "Resource deadlock avoided",
  "File name too long",
  "No locks available",
  "Function not implemented",
  "Directory not empty",
  "Too many levels of symbolic links",
  "",
  "No message of desired type",
  "Identifier removed",
  "Channel number out of range",
  "Level 2 not synchronized",
  "Level 3 halted",
  "Level 3 reset",
  "Link number out of range",
  "Protocol driver not attached",
  "No CSI structure available",
  "Level 2 halted",
  "Invalid exchange",
  "Invalid request descriptor",
  "Exchange full",
  "No anode",
  "Invalid request code",
  "Invalid slot",
  "",
  "Bad font file format",
  "Device not a stream",
  "No data available",
  "Timer expired",
  "Out of streams resources",
  "Machine is not on the network",
  "Package not installed",
  "Object is remote",
  "Link has been severed",
  "Advertise error",
  "Srmount error",
  "Communication error on send",
  "Protocol error",
  "Multihop attempted",
  "RFS specific error",
  "Bad message",
  "Value too large for defined data type",
  "Name not unique on network",
  "File descriptor in bad state",
  "Remote address changed",
  "Can not access a needed shared library",
  "Accessing a corrupted shared library",
  ".lib section in a.out corrupted",
  "Attempting to link in too many shared libraries",
  "Cannot exec a shared library directly",
  "Invalid or incomplete multibyte or wide character",
  "Interrupted system call should be restarted",
  "Streams pipe error",
  "Too many users",
  "Socket operation on non-socket",
  "Destination address required",
  "Message too long",
  "Protocol wrong type for socket",
  "Protocol not available",
  "Protocol not supported",
  "Socket type not supported",
  "Operation not supported",
  "Protocol family not supported",
  "Address family not supported by protocol",
  "Address already in use",
  "Cannot assign requested address",
  "Network is down",
  "Network is unreachable",
  "Network dropped connection on reset",
  "Software caused connection abort",
  "Connection reset by peer",
  "No buffer space available",
  "Transport endpoint is already connected",
  "Transport endpoint is not connected",
  "Cannot send after transport endpoint shutdown",
  "Too many references: cannot splice",
  "Connection timed out",
  "Connection refused",
  "Host is down",
  "No route to host",
  "Operation already in progress",
  "Operation now in progress",
  "Stale file handle",
  "Structure needs cleaning",
  "Not a XENIX named type file",
  "No XENIX semaphores available",
  "Is a named type file",
  "Remote I/O error",
  "Disk quota exceeded",
  "No medium found",
  "Wrong medium type",
  "Operation canceled",
  "Required key not available",
  "Key has expired",
  "Key has been revoked",
  "Key was rejected by service",
  "Owner died",
  "State not recoverable",
  "Operation not possible due to RF-kill",
  "Memory page has hardware error"]

/-- The kinds of the numbered faults that have one. -/
def systemKinds : List (Nat × IoKind) := [
  (1, .permissionDenied), (2, .notFound), (4, .interrupted), (7, .argumentListTooLong),
  (11, .wouldBlock), (12, .outOfMemory), (13, .permissionDenied), (16, .resourceBusy),
  (17, .alreadyExists), (18, .crossesDevices), (20, .notADirectory), (21, .isADirectory),
  (22, .invalidInput), (26, .executableFileBusy), (27, .fileTooLarge), (28, .storageFull),
  (29, .notSeekable), (30, .readOnlyFilesystem), (31, .tooManyLinks), (32, .brokenPipe),
  (35, .deadlock), (36, .invalidFilename), (38, .unsupported), (39, .directoryNotEmpty),
  (40, .filesystemLoop), (98, .addrInUse), (99, .addrNotAvailable), (100, .networkDown),
  (101, .networkUnreachable), (103, .connectionAborted), (104, .connectionReset),
  (107, .notConnected), (110, .timedOut), (111, .connectionRefused), (113, .hostUnreachable),
  (116, .staleNetworkFileHandle), (122, .quotaExceeded)]

/-- The text of a numbered fault. -/
def systemText (number : Nat) : String :=
  match number, systemTexts[number - 1]? with
  | 0, _ => "Success"
  | _, some "" | _, none => "Unknown error " ++ toString number
  | _, some text => text

/-- The kind of a numbered fault. -/
def systemKind (number : Nat) : IoKind :=
  (systemKinds.lookup number).getD .uncategorized

/-! ## Faults -/

/-- A fault of a stream or a file. -/
inductive IoFault where
  /-- a kind and nothing more -/
  | bare (kind : IoKind)
  /-- a kind with a text of its own -/
  | described (kind : IoKind) (text : String)
  /-- a fault of the operating system -/
  | system (number : Nat)
  deriving DecidableEq, Repr, Inhabited

namespace IoFault

def kind : IoFault → IoKind
  | bare k => k
  | described k _ => k
  | system n => systemKind n

/-- What the user reads. -/
def text : IoFault → String
  | bare k => k.text
  | described _ t => t
  | system n => s!"{systemText n} (os error {n})"

/-- Whether the receive loop tries again after this fault. -/
def isTransient (f : IoFault) : Bool := f.kind.isTransient

end IoFault

end DongleLink
