/-
  Failover.Host.Files
  ───────────────────
  **The files of a small host.** Besides the usual directories and a few
  files that every host has there are files that are given.  A path that
  begins at the working directory may say so.
-/
import Failover.Fault
import Failover.Named
import Failover.Text.Utf8

namespace Failover.Host

/-! ## §1. Paths. -/

/-- The directories of a small host. -/
def directories : List String :=
  ["/", "/bin", "/bin/", "/usr", "/usr/", "/usr/bin", "/usr/bin/", "/etc", "/etc/", "/tmp", "/tmp/",
    "/dev", "/dev/", "/home", "/root", "/var", "/proc", "/sys", ".", "..", "./", "../"]

/-- The files that are always there, and what they hold. -/
def commonFiles : List (String × String) :=
  [("/etc/passwd", "root:x:0:0:root:/root:/bin/sh\n"),
    ("/etc/hosts", "127.0.0.1\tlocalhost\n"),
    ("/dev/null", "")]

/-- A path from the working directory without the dot that says so. -/
def withoutDot (path : String) : String :=
  match path.toList with
  | '.' :: '/' :: c :: rest => String.ofList (c :: rest)
  | _ => path

/-- The most bytes of a name in a path. -/
def mostNameBytes : Nat := 255

/-- The most bytes of a path. -/
def mostPathBytes : Nat := 4095

/-- Whether a path or a name in it is too long. -/
def isTooLong (path : String) : Bool :=
  mostPathBytes < (Text.Utf8.bytesOf path).length ||
    ((Text.Utf8.bytesOf path).splitOn 47).any fun name => mostNameBytes < name.length

/-- Whether a path goes on behind the name of a file. -/
def goesThrough (file path : String) : Bool := (file ++ "/").toList.isPrefixOf path.toList

/-! ## §2. Reading and launching. -/

/-- Given files, and those that are always there. -/
def withCommonFiles (files : List (String × List UInt8)) : List (String × List UInt8) :=
  files ++ commonFiles.map fun (name, text) => (name, Text.Utf8.bytesOf text)

/-- What a file holds. -/
def fileBytes (files : List (String × List UInt8)) (path : String) : Except IoFault (List UInt8) :=
  let files := withCommonFiles files
  if path.toList.contains '\x00' then .error .nulInName
  else if isTooLong path then .error .nameTooLong
  else
    match files.lookup (withoutDot path) with
    | some bytes => .ok bytes
    | none =>
        if directories.contains path then .error .isDirectory
        else if files.any fun file => goesThrough file.1 (withoutDot path) then
          .error .notDirectory
        else .error .notFound

/-- Why a path that names no command cannot be launched. -/
def launchFault (path : String) : IoFault :=
  if isTooLong path then .nameTooLong
  else if directories.contains path || commonFiles.any (·.1 == path) then .permissionDenied
  else if commonFiles.any fun file => goesThrough file.1 path then .notDirectory
  else .notFound

end Failover.Host
