import Flagpost.Text.Decimal
import Flagpost.Text.Quoted

/-!
# Flagpost — failures of input and output

Why reading, writing or listening failed. Most causes are those an operating
system reports, each with its number and its wording. Two are found before the
system is asked: a path or host with a NUL in it, and bytes that are no text.
The last is the answer of a resolver that does not know a host.
-/

namespace Flagpost

/-- Why input or output failed. -/
inductive IoError
  | notFound
  | permissionDenied
  | busy
  | alreadyExists
  | notDirectory
  | isDirectory
  | invalidArgument
  | noSpace
  | nameTooLong
  | notEmpty
  | notSupported
  | addressInUse
  | addressNotAvailable
  | nulInPath
  | notText
  | unknownHost
deriving DecidableEq

namespace IoError

/-- The number the system gives the failure, if it comes from the system. -/
def code? : IoError → Option Nat
  | notFound => some 2
  | permissionDenied => some 13
  | busy => some 16
  | alreadyExists => some 17
  | notDirectory => some 20
  | isDirectory => some 21
  | invalidArgument => some 22
  | noSpace => some 28
  | nameTooLong => some 36
  | notEmpty => some 39
  | notSupported => some 95
  | addressInUse => some 98
  | addressNotAvailable => some 99
  | nulInPath => none
  | notText => none
  | unknownHost => none

/-- What went wrong, in words. -/
def reason : IoError → String
  | notFound => "No such file or directory"
  | permissionDenied => "Permission denied"
  | busy => "Device or resource busy"
  | alreadyExists => "File exists"
  | notDirectory => "Not a directory"
  | isDirectory => "Is a directory"
  | invalidArgument => "Invalid argument"
  | noSpace => "No space left on device"
  | nameTooLong => "File name too long"
  | notEmpty => "Directory not empty"
  | notSupported => "Operation not supported"
  | addressInUse => "Address already in use"
  | addressNotAvailable => "Cannot assign requested address"
  | nulInPath => "file name contained an unexpected NUL byte"
  | notText => "stream did not contain valid UTF-8"
  | unknownHost => "failed to lookup address information: Name or service not known"

/-- The class of a failure, as a diagnosis names it. -/
def kind : IoError → String
  | notFound => "NotFound"
  | permissionDenied => "PermissionDenied"
  | busy => "ResourceBusy"
  | alreadyExists => "AlreadyExists"
  | notDirectory => "NotADirectory"
  | isDirectory => "IsADirectory"
  | invalidArgument => "InvalidInput"
  | noSpace => "StorageFull"
  | nameTooLong => "InvalidFilename"
  | notEmpty => "DirectoryNotEmpty"
  | notSupported => "Unsupported"
  | addressInUse => "AddrInUse"
  | addressNotAvailable => "AddrNotAvailable"
  | nulInPath => "InvalidInput"
  | notText => "InvalidData"
  | unknownHost => "Uncategorized"

/-- The failure as a message: a number from the system is added. -/
def message (e : IoError) : String :=
  match e.code? with
  | some code => e.reason ++ " (os error " ++ String.ofList (Decimal.digits code) ++ ")"
  | none => e.reason

/-- The failure as a diagnosis, with its parts named. -/
def diagnosis (e : IoError) : String :=
  match e, e.code? with
  | _, some code =>
    "Os \x7b code: " ++ String.ofList (Decimal.digits code) ++ ", kind: " ++ e.kind ++
      ", message: " ++ Quoted.quote e.reason ++ " \x7d"
  | unknownHost, none =>
    "Custom \x7b kind: " ++ e.kind ++ ", error: " ++ Quoted.quote e.reason ++ " \x7d"
  | _, none => "Error \x7b kind: " ++ e.kind ++ ", message: " ++ Quoted.quote e.reason ++ " \x7d"

end IoError

end Flagpost
