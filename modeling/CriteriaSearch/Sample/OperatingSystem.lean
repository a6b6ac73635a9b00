import CriteriaSearch.Calendar.Layout
import CriteriaSearch.Json.Record
import CriteriaSearch.Schema
import CriteriaSearch.Value.Reader

namespace CriteriaSearch

structure OperatingSystem where
  id : Int64
  name : String
  version : Option String
  kernel : Option String
  releaseDate : Option Date
  usages : Option Int32
  deriving DecidableEq, Repr

namespace OperatingSystem

def table : String := "operating_system"

def tableStatement : String :=
  "CREATE TABLE IF NOT EXISTS operating_system (\n    id INTEGER PRIMARY KEY,\n" ++
  "    name TEXT NOT NULL,\n    version TEXT,\n    kernel TEXT,\n    releaseDate TEXT,\n" ++
  "    usages INTEGER\n)"

def schema : EntitySchema :=
  ⟨⟨"OperatingSystem", [
    .plain "id" .integer, .plain "name" .text, .plain "version" .text, .plain "kernel" .text,
    .plain "releaseDate" .date, .plain "usages" .integer]⟩, []⟩

def toJson (s : OperatingSystem) : Json :=
  .object [
    ("id", .integer s.id.toInt),
    ("name", .text s.name),
    ("version", .ofText? s.version),
    ("kernel", .ofText? s.kernel),
    ("releaseDate", .ofText? (s.releaseDate.map Date.display)),
    ("usages", match s.usages with
      | some n => .integer n.toInt
      | none => .null)]

def dateOfJson? (j : Json) : Option Date :=
  j.text?.bind fun s => Layout.looseDate.date? s.toList

def ofJson? (j : Json) : Option OperatingSystem := do
  match ← j.slots? ["id", "name", "version", "kernel", "releaseDate", "usages"] with
  | [id, name, version, kernel, releaseDate, usages] =>
    some ⟨← id.required fun j => j.integer?.bind int64?, ← name.required Json.text?,
      ← version.nullable Json.text?, ← kernel.nullable Json.text?,
      ← releaseDate.nullable dateOfJson?, ← usages.nullable fun j => j.integer?.bind int32?⟩
  | _ => none

def ofRow (backend : String) (row : Json) : Except SearchError OperatingSystem :=
  match ofJson? row with
  | some s => .ok s
  | none => .error (.mapping backend "row is no operating system")

def names : List String := [
  "Windows", "Ubuntu", "Debian", "Fedora", "Red Hat Enterprise Linux", "CentOS", "Arch Linux",
  "openSUSE", "Linux Mint", "macOS", "Android", "iOS", "FreeBSD", "OpenBSD", "Rocky Linux",
  "AlmaLinux", "Manjaro", "Pop!_OS", "elementary OS", "Zorin OS"]

def kernels : List String := [
  "NT 10.0", "NT 6.3", "NT 6.1", "Linux 6.11", "Linux 6.10", "Linux 6.8", "Linux 6.6",
  "Linux 6.1", "Linux 5.15", "Linux 5.14", "Linux 5.10", "Linux 5.4", "Linux 4.19", "Linux 4.18",
  "Linux 3.10", "Darwin 24.1", "Darwin 24.0", "Darwin 23.6", "Darwin 23.0", "Darwin 22.0",
  "FreeBSD 14.1", "OpenBSD 7.6"]

/-- The entry of a list that a number comes to when the list is counted round and round. -/
def pick (texts : List String) (n : Nat) : String := (texts[n % texts.length]?).getD ""

def firstDay : Int := 14610

/-- The sample release with a number; numbers start at one. Every eleventh has no kernel, every
seventeenth no usages and every twenty-third an empty version. -/
def sample (i : Nat) : OperatingSystem where
  id := Int64.ofNat i
  name := pick names (i * 7)
  version := some <|
    if i % 23 = 0 then "" else toString (i % 15 + 1) ++ "." ++ toString (i % 10)
  kernel := if i % 11 = 0 then none else some (pick kernels (i * 13))
  releaseDate := Date.ofDayNumber? (firstDay + (i * 37 % 5475 : Nat))
  usages := if i % 17 = 0 then none else some (Int32.ofNat (i * 7919 % 100000))

def samples (count : Nat) : List OperatingSystem := (List.range count).map fun i => sample (i + 1)

end OperatingSystem

end CriteriaSearch
